import RouteAtlas.Java.Token
import RouteAtlas.Syntax.Node

set_option autoImplicit false

namespace RouteAtlas.Java

structure Part where
  node : Node
  start : Nat

structure Cursor where
  source : Array CodePoint
  rest : List Token
  -- The token before the place.
  last : Option Token
  -- The number of tokens before the place.
  position : Nat
  -- The number of tokens before the furthest one that could not be used.
  furthest : Nat

/-- What a rule finds: the nodes read and the place after them, or only how far it came. -/
inductive Outcome where
  | found (parts : List Part) (after : Cursor)
  | failed (furthest : Nat)

abbrev Rule := Cursor -> Outcome

namespace Cursor

def next? (cursor : Cursor) : Option Token :=
  cursor.rest.head?

def fail (cursor : Cursor) : Outcome :=
  .failed (max cursor.furthest cursor.position)

def advance (cursor : Cursor) : Cursor :=
  match cursor.rest with
  | [] => cursor
  | token :: rest => { cursor with rest := rest, last := some token, position := cursor.position + 1 }

def advanceBy : Nat -> Cursor -> Cursor
  | 0, cursor => cursor
  | count + 1, cursor => advanceBy count cursor.advance

def word? (cursor : Cursor) : Option String :=
  (cursor.next?.filter fun token => token.kind = .word).map Token.text

def atWord (cursor : Cursor) (text : String) : Bool :=
  cursor.word? = some text

def atAnyWord (cursor : Cursor) (texts : List String) : Bool :=
  cursor.word?.any texts.contains

def symbol? (cursor : Cursor) : Option String :=
  (cursor.next?.filter fun token => token.kind = .symbol).map Token.text

def atSymbol (cursor : Cursor) (text : String) : Bool :=
  cursor.symbol? = some text

def sees (cursor : Cursor) (rule : Rule) (test : Cursor -> Bool) : Bool :=
  match rule cursor with
  | .found _ after => test after
  | .failed _ => false

end Cursor

namespace Rule

def nothing : Rule :=
  fun cursor => .found [] cursor

def failure : Rule :=
  Cursor.fail

def seq : List Rule -> Rule
  | [] => nothing
  | rule :: rules => fun cursor =>
    match rule cursor with
    | .failed furthest => .failed furthest
    | .found parts after =>
      match seq rules after with
      | .failed furthest => .failed furthest
      | .found more last => .found (parts ++ more) last

def choice : List Rule -> Rule
  | [] => failure
  | rule :: rules => fun cursor =>
    match rule cursor with
    | .found parts after => .found parts after
    | .failed furthest => choice rules { cursor with furthest := max cursor.furthest furthest }

def optional (rule : Rule) : Rule :=
  choice [rule, nothing]

def repeatUpTo (rule : Rule) : Nat -> Rule
  | 0 => nothing
  | count + 1 => fun cursor =>
    match rule cursor with
    | .failed furthest => .found [] { cursor with furthest := max cursor.furthest furthest }
    | .found parts after =>
      if after.position = cursor.position then .found parts after
      else match repeatUpTo rule count after with
        | .failed furthest => .failed furthest
        | .found more last => .found (parts ++ more) last

def many (rule : Rule) : Rule :=
  fun cursor => repeatUpTo rule cursor.rest.length cursor

def many1 (rule : Rule) : Rule :=
  seq [rule, many rule]

def choose (select : Cursor -> Rule) : Rule :=
  fun cursor => select cursor cursor

def ifAt (test : Cursor -> Bool) (yes : Rule) (no : Rule) : Rule :=
  fun cursor => if test cursor then yes cursor else no cursor

def guarded (test : Cursor -> Bool) (rule : Rule) : Rule :=
  ifAt test rule failure

def textFrom (start : Nat) (cursor : Cursor) : Text :=
  (cursor.source.extract start (cursor.last.elim start Token.stop)).toList

def wrap (kind : Kind) (parts : List Part) (after : Cursor) : Part :=
  let start := parts.head?.elim (after.next?.elim 0 Token.start) Part.start
  let line := parts.head?.elim (after.next?.elim 1 Token.line) fun part => part.node.line
  { start := start
    node := {
      kind := kind
      text := textFrom start after
      line := line
      named := true
      field := none
      missing := false
      children := parts.map Part.node } }

def node (kind : Kind) (rule : Rule) : Rule :=
  fun cursor =>
    match rule cursor with
    | .failed furthest => .failed furthest
    | .found parts after => .found [wrap kind parts after] after

def extend (kind : Kind) (left : List Part) (rule : Rule) : Rule :=
  fun cursor =>
    match rule cursor with
    | .failed furthest => .failed furthest
    | .found parts after => .found [wrap kind (left ++ parts) after] after

def given (parts : List Part) : Rule :=
  fun cursor => .found parts cursor

def andThen (rule : Rule) (next : List Part -> Rule) : Rule :=
  fun cursor =>
    match rule cursor with
    | .failed furthest => .failed furthest
    | .found parts after => next parts after

def extendUpTo (step : List Part -> Cursor -> Option Rule) : Nat -> List Part -> Rule
  | 0, left => given left
  | count + 1, left => fun cursor =>
    match step left cursor with
    | none => .found left cursor
    | some rule => andThen rule (extendUpTo step count) cursor

def extendMany (step : List Part -> Cursor -> Option Rule) (left : List Part) : Rule :=
  fun cursor => extendUpTo step cursor.rest.length left cursor

def field (place : Field) (rule : Rule) : Rule :=
  fun cursor =>
    match rule cursor with
    | .failed furthest => .failed furthest
    | .found parts after =>
      .found (parts.map fun part => { part with node := { part.node with field := some place } }) after

def token (test : Token -> Bool) (named : Bool) (kind : Token -> Kind) : Rule :=
  fun cursor =>
    match cursor.rest with
    | [] => cursor.fail
    | first :: _ =>
      if test first then
        let node : Node := {
          kind := kind first
          text := Text.ofString first.text
          line := first.line
          named := named
          field := none
          missing := false
          children := [] }
        .found [{ node := node, start := first.start }] cursor.advance
      else cursor.fail

def symbol (text : String) : Rule :=
  token (fun found => found.kind = .symbol && found.text = text) false fun _ => .other text

def keyword (text : String) : Rule :=
  token (fun found => found.kind = .word && found.text = text) false fun _ =>
    if text = "final" then .finalKeyword else .other text

def anyKeyword (texts : List String) : Rule :=
  token (fun found => found.kind = .word && texts.contains found.text) false fun found =>
    if found.text = "final" then .finalKeyword else .other found.text

def nameExcept (kind : Kind) (keywords : List String) : Rule :=
  token (fun found => found.kind = .word && !keywords.contains found.text) true fun _ => kind

def identifierExcept (keywords : List String) : Rule :=
  nameExcept .identifier keywords

def identifier : Rule :=
  identifierExcept []

def parens (rule : Rule) : Rule :=
  seq [symbol "(", rule, symbol ")"]

def braces (rule : Rule) : Rule :=
  seq [symbol "\x7b", rule, symbol "\x7d"]

def separated1 (separator : String) (rule : Rule) : Rule :=
  seq [rule, many (seq [symbol separator, rule])]

def commas1 (rule : Rule) : Rule :=
  separated1 "," rule

def commas (rule : Rule) : Rule :=
  optional (commas1 rule)

end Rule

end RouteAtlas.Java
