import RouteAtlas.Survey
import RouteAtlas.Text.Markup

set_option autoImplicit false

namespace RouteAtlas.Command

structure Arguments where
  paths : List Text
  format : Text
  keepGoing : Bool
  quiet : Bool
  help : Bool
deriving DecidableEq, Repr

namespace Arguments

def none : Arguments :=
  { paths := [], format := "text", keepGoing := false, quiet := false, help := false }

end Arguments

inductive OptionName where
  | format
  | keepGoing
  | quiet
  | help
deriving DecidableEq, Repr

def longNames : List (Text × OptionName) :=
  [("--format", .format), ("--keep-going", .keepGoing), ("--quiet", .quiet), ("--help", .help)]

def shortNames : List (CodePoint × OptionName) :=
  [(CodePoint.ofChar 'f', .format), (CodePoint.ofChar 'q', .quiet)]

abbrev dash : CodePoint := '-'

abbrev equalsSign : CodePoint := '='

def Arguments.set (found : Arguments) : OptionName -> Arguments
  | .format => found
  | .keepGoing => { found with keepGoing := true }
  | .quiet => { found with quiet := true }
  | .help => { found with help := true }

inductive Asked where
  | done (found : Arguments)
  | formatNext (found : Arguments)
  | unknown

def askLong (found : Arguments) (argument : Text) : Asked :=
  let name := argument.takeWhile (· ≠ equalsSign)
  let given := (argument.drop name.length).tail?
  match longNames.lookup name, given with
  | some .format, some value => .done { found with format := value }
  | some .format, Option.none => .formatNext found
  | some option, Option.none => .done (found.set option)
  | _, _ => .unknown

def askShort (found : Arguments) : Text -> Asked
  -- Short options in one argument, after its dash. An option with a value takes the rest of the argument.
  | [] => .done found
  | letter :: rest =>
    match shortNames.lookup letter with
    | some .format => if rest.isEmpty then .formatNext found else .done { found with format := rest }
    | some option => askShort (found.set option) rest
    | Option.none => .unknown

def ask (found : Arguments) (argument : Text) : Asked :=
  if argument.startsWith [dash, dash] then askLong found argument
  else askShort found (argument.drop 1)

def readArguments? (found : Arguments) : List Text -> Option Arguments
  | [] => some found
  | argument :: rest =>
    if argument = [dash, dash] then some { found with paths := found.paths ++ rest }
    else if argument.startsWith [dash] && 1 < argument.length then
      match ask found argument with
      | .done next => readArguments? next rest
      | .unknown => Option.none
      | .formatNext next =>
        match rest with
        | [] => Option.none
        | value :: others => readArguments? { next with format := value } others
    else readArguments? { found with paths := found.paths ++ [argument] } rest

def lower (point : CodePoint) : CodePoint :=
  if 0x41 ≤ point.val && point.val ≤ 0x5A then CodePoint.ofNat (point.val + 0x20) else point

inductive Request where
  | help
  | misuse
  | survey (arguments : Arguments)
deriving DecidableEq, Repr

def Request.ofArguments (arguments : List Text) : Request :=
  -- The request of a command line. Help is given whatever else is asked, as long as the options make sense.
  match readArguments? Arguments.none arguments with
  | Option.none => .misuse
  | some found =>
    if found.help then .help
    else
      let format := Text.trim (found.format.map lower)
      if found.paths.isEmpty || (ReportFormat.ofName? format).isNone then .misuse
      else .survey { found with format := format }

structure Outcome where
  exitCode : Nat
  output : Text
  errors : Text
  -- A failure that the command does not report itself.
  escaped : Option Failure
  records : List LogRecord
  logger : Logger

def errorWidth : Nat :=
  80

def errorReport (cause : Failure) : Text :=
  (Wrap.wrapped errorWidth ("error: " ++ Markup.shown cause.message)).flatMap fun line => line ++ [CodePoint.lineFeed]

def reports : Failure -> Bool
  | .notJava _ _ | .missingPath _ => true
  | _ => false

def isPrintable (text : Text) : Bool :=
  text.all fun point => !point.isSurrogate

def survey (logger : Logger) (settings : Settings) (files : FileSystem) (arguments : Arguments) : Outcome :=
  let options := Survey.Options.ofSettings settings [] [] arguments.keepGoing
  let before := if arguments.quiet then some (logger.setLevel Severity.warning.value) else Option.none
  let active := before.elim logger Prod.snd
  let done := Survey.runTo isPrintable active options files arguments.paths arguments.format
  let after := before.elim active fun changed => (active.setLevel changed.1).2
  match done.result with
  | .ok _ =>
    { exitCode := 0, output := done.written.flatten, errors := [], escaped := Option.none, records := done.records
      logger := after }
  | .error cause =>
    { exitCode := 1
      output := done.written.flatten
      errors := if reports cause then errorReport cause else []
      escaped := if reports cause then Option.none else some cause
      records := done.records
      logger := after }

def execute (logger : Logger) (settings : Settings) (files : FileSystem) (arguments : List Text) : Outcome :=
  match Request.ofArguments arguments with
  | .help =>
    { exitCode := 0, output := [], errors := [], escaped := Option.none, records := [], logger := logger }
  | .misuse =>
    { exitCode := 2, output := [], errors := [], escaped := Option.none, records := [], logger := logger }
  | .survey found => survey logger settings files found

end RouteAtlas.Command
