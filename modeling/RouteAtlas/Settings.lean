import RouteAtlas.Log

set_option autoImplicit false

namespace RouteAtlas

structure Settings where
  logLevel : Int
  logFormat : Text
  logDateFormat : Text
  sourceSuffix : Text
  -- The full name of the annotation that declares routes.
  routingName : Text
deriving DecidableEq, Repr

namespace Settings

def levels : List (Text × Int) :=
  [("CRITICAL", 50), ("FATAL", 50), ("ERROR", 40), ("WARN", 30), ("WARNING", 30), ("INFO", 20), ("DEBUG", 10),
    ("NOTSET", 0)]

def upper (point : CodePoint) : CodePoint :=
  if 0x61 ≤ point.val && point.val ≤ 0x7A then CodePoint.ofNat (point.val - 0x20)
  else if point.val = 0x131 then 'I'
  else if point.val = 0x17F then 'S'
  else point

def levelOf (name : Text) : Int :=
  -- The level of a name in any case; an unknown name means the level of information.
  (levels.lookup (name.map upper)).getD 20

def standard : Settings :=
  { logLevel := 20
    logFormat := "%(message)s"
    logDateFormat := "%Y-%m-%d %H:%M:%S"
    sourceSuffix := ".java"
    routingName := "org.springframework.web.bind.annotation.RequestMapping" }

def variableNames : List String :=
  ["REQMAP_LOG_LEVEL", "REQMAP_LOG_FORMAT", "REQMAP_LOG_DATE_FORMAT", "REQMAP_SOURCE_SUFFIX", "REQMAP_ANNOTATION"]

def setting? (environment : List (Text × Text)) (name : Text) : Option Text :=
  environment.lookup name

def ofEnvironment (environment : List (Text × Text)) : Settings :=
  { logLevel := (setting? environment "REQMAP_LOG_LEVEL").elim standard.logLevel levelOf
    logFormat := (setting? environment "REQMAP_LOG_FORMAT").getD standard.logFormat
    logDateFormat := (setting? environment "REQMAP_LOG_DATE_FORMAT").getD standard.logDateFormat
    sourceSuffix := (setting? environment "REQMAP_SOURCE_SUFFIX").getD standard.sourceSuffix
    routingName := (setting? environment "REQMAP_ANNOTATION").getD standard.routingName }

def routingNames (settings : Settings) : List Text :=
  -- The names by which the routing annotation may be written: its simple name and its full name, in order.
  let simple := (Text.lastTwo (Text.split CodePoint.dot settings.routingName)).2
  if simple = settings.routingName then [simple]
  else if Text.le simple settings.routingName then [simple, settings.routingName]
  else [settings.routingName, simple]

end Settings

end RouteAtlas
