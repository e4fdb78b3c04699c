import RouteAtlas.Text.Basic

set_option autoImplicit false

namespace RouteAtlas

inductive Severity where
  | debug
  | info
  | warning
deriving DecidableEq, Repr

namespace Severity

def value : Severity -> Int
  | debug => 10
  | info => 20
  | warning => 30

def name : Severity -> Text
  | debug => "DEBUG"
  | info => "INFO"
  | warning => "WARNING"

end Severity

structure LogRecord where
  severity : Severity
  message : Text
deriving DecidableEq, Repr

structure Logger where
  level : Int
deriving DecidableEq, Repr

namespace Logger

def standard : Logger :=
  { level := 20 }

def threshold (logger : Logger) : Int :=
  if logger.level = 0 then Severity.warning.value else logger.level

def keeps (logger : Logger) (severity : Severity) : Bool :=
  logger.threshold ≤ severity.value

def write (logger : Logger) (severity : Severity) (message : Text) (records : List LogRecord) : List LogRecord :=
  if logger.keeps severity then records ++ [{ severity := severity, message := message }] else records

def setLevel (logger : Logger) (level : Int) : Int × Logger :=
  (logger.level, { level := level })

def setLevels : Logger -> List Int -> List Int
  | _, [] => []
  | logger, level :: rest =>
    let changed := logger.setLevel level
    changed.1 :: setLevels changed.2 rest

def rootName : Text :=
  "reqmap"

def fullName (name : Text) : Text :=
  if name = rootName || name.startsWith (rootName ++ [CodePoint.dot]) then name
  else rootName ++ CodePoint.dot :: name

end Logger

end RouteAtlas
