import RouteAtlas.Java.CompilationUnit
import RouteAtlas.Java.Lexer

set_option autoImplicit false

namespace RouteAtlas.Java

def supposed (kind : TokenKind) (text : String) : Token :=
  { kind := kind, text := text, start := 0, stop := 0, line := 1, lastLine := 1 }

def missingTokens : List Token :=
  -- What may be missing before a token: the end of a statement, of parentheses, brackets or braces, or a name.
  [supposed .symbol ";", supposed .symbol ")", supposed .symbol "]", supposed .symbol "\x7d", supposed .word "missing"]

def readsBeyond (source : Array CodePoint) (count : Nat) (tokens : List Token) : Bool :=
  match readTokens source tokens with
  | .ok _ => true
  | .error furthest => count < furthest

def fillings (next : Token) : List (List Token) :=
  -- Ways to fill the gap before a token. Before a closing brace two tokens may be missing, as in a call that is left
  -- open.
  let single := missingTokens.map fun missing => [missing]
  if next.kind = .symbol && next.text = "\x7d" then
    single ++ missingTokens.flatMap fun first => missingTokens.map fun second => [first, second]
  else single

def mayBeDropped (token : Token) : Bool :=
  -- Words and commas that a declaration or a list begins with may be the ones that are too many.
  token.kind = .word || (token.kind = .symbol && token.text = ",")

def lineBefore (pieces : List Token) (next : Option Token) : Nat :=
  let before := next.elim pieces fun token => pieces.takeWhile fun piece => piece.start < token.start
  before.getLast?.elim 1 Token.lastLine

def errorLine (source : Array CodePoint) (pieces : List Token) (tokens : List Token) (count : Nat) : Nat :=
  let read := tokens.take count
  let left := tokens.drop count
  match read.getLast?, left.head? with
  | none, some token => token.line
  | _, none => lineBefore pieces none
  | some before, some token =>
    if (fillings token).any fun filling => readsBeyond source (count + filling.length) (read ++ filling ++ left) then
      lineBefore pieces (some token)
    else if mayBeDropped before && readsBeyond source (count - 1) (read.dropLast ++ left) then before.lastLine
    else token.line

def parse (source : List Char) : Except Nat Node :=
  let text := (Text.ofChars source).toArray
  let pieces := Lexer.tokens source
  let tokens := pieces.filter fun piece => piece.kind ≠ .comment
  (readTokens text tokens).mapError (errorLine text pieces tokens)

end RouteAtlas.Java
