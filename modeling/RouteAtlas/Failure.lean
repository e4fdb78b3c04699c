import RouteAtlas.Reading.Literal

set_option autoImplicit false

namespace RouteAtlas

inductive Failure where
  | notJava (file : Text) (line : Nat)
  | missingPath (path : Text)
  -- A path argument begins at the home directory of someone unknown.
  | unknownHome
  -- The system refuses to look for a path argument.
  | refused (reason : Text)
  | literal (cause : LiteralError)
  | unknownFormat (format : Text)
  -- A destination does not take the text of a report, because it holds a surrogate.
  | unwritable
deriving DecidableEq, Repr

namespace Failure

def message : Failure -> Text
  | notJava file line => "Java syntax error in " ++ file ++ ":" ++ Text.ofNat line
  | missingPath path => "No such file or directory: " ++ path
  | unknownHome => "Could not determine home directory."
  | refused reason => reason
  | literal .unicodeEscape => "invalid literal for int() with base 16: ''"
  | unknownFormat format => "Unknown output format: " ++ format
  | unwritable => "surrogates not allowed"

end Failure

end RouteAtlas
