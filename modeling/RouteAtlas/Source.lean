import RouteAtlas.Failure
import RouteAtlas.Java.Parse
import RouteAtlas.Reading.File
import RouteAtlas.Text.Utf8

set_option autoImplicit false

namespace RouteAtlas

/-- Why a tree is not read: there is an error in it, on the line that the search for the first one gives, or a string
literal has no value. -/
inductive TreeFailure where
  | notJava (file : Text) (line : Option Nat)
  | literal (cause : LiteralError)
deriving DecidableEq, Repr

def TreeFailure.toFailure : TreeFailure -> Failure
  -- The search never comes back without a line when there is an error.
  | notJava file line => .notJava file (line.getD 1)
  | literal cause => .literal cause

namespace Source

def brokenOn (line : Nat) : Node :=
  -- The tree of a text that does not follow the grammar, of which no more than the line of the first error is known.
  let error : Node :=
    { kind := .error, text := [], line := line, named := true, field := none, missing := false, children := [] }
  { kind := .program, text := [], line := 1, named := true, field := none, missing := false, children := [error] }

def tree (source : List Char) : Node :=
  match Java.parse source with
  | .error line => brokenOn line
  | .ok root => root

def readTree (file : Text) (root : Node) : Except TreeFailure FileReading :=
  if root.hasError then .error (.notJava file root.firstErrorLine?)
  else (FileReading.ofRoot root).mapError TreeFailure.literal

def read (file : Text) (source : List Char) : Except Failure FileReading :=
  (readTree file (tree source)).mapError TreeFailure.toFailure

end Source

end RouteAtlas
