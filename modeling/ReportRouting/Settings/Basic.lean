import ReportRouting.Failure
import ReportRouting.Route.Schedule
import ReportRouting.Text.Blank

/-!
Settings: where the rule file is, how rules are evaluated, and how mails are delivered.
-/

namespace ReportRouting

/-- The relay comes before the local program where both are set. -/
structure DeliverySettings where
  smtpServer : Option String
  smtpPort : UInt16
  smtpHelo : String
  program : Option String
  sender : String
  subjectPrefix : String
  /-- How many seconds the relay may take to answer. -/
  timeout : UInt64
  deriving DecidableEq, Repr

namespace DeliverySettings

def default : DeliverySettings where
  smtpServer := none
  smtpPort := 25
  smtpHelo := "localhost"
  program := none
  sender := "report@localhost"
  subjectPrefix := "Puppet Report for"
  timeout := 30

def subjectFor (d : DeliverySettings) (host : String) : String :=
  d.subjectPrefix ++ " " ++ host

def validate (d : DeliverySettings) : Except SettingsFault Unit :=
  if d.smtpPort = 0 then .error .zeroPort
  else if d.timeout = 0 then .error .zeroTimeout
  else if Text.isBlankText d.sender then .error .blankSender
  else if d.smtpServer.any Text.isBlankText then .error .blankServer
  else .ok ()

end DeliverySettings

structure Settings where
  ruleFile : String
  engine : Engine
  delivery : DeliverySettings
  deriving DecidableEq, Repr

namespace Settings

def default : Settings where
  ruleFile := "/etc/puppet/tagmail.conf"
  engine := .default
  delivery := .default

/-- The settings of a machine before any change. They have a program if one was found there. -/
def initial (found : Option String) : Settings :=
  { default with delivery.program := found }

def validate (s : Settings) : Except SettingsFault Unit :=
  s.delivery.validate

end Settings

/-! ### Changes -/

/-- A span of time: seconds, and nanoseconds beyond them. -/
structure TimeSpan where
  seconds : UInt64
  nanoseconds : Fin 1000000000
  deriving DecidableEq, Repr

def TimeSpan.ofMilliseconds (n : UInt64) : TimeSpan :=
  ⟨n / 1000, ⟨n.toNat % 1000 * 1000000, by omega⟩⟩

/-- A number stands for so many milliseconds where a span is asked for. -/
instance : Coe UInt64 TimeSpan :=
  ⟨TimeSpan.ofMilliseconds⟩

namespace Settings

/-- One change of the settings. -/
inductive Change where
  | ruleFile (path : String)
  | engine (engine : Engine)
  | parallel (on : Bool)
  | minRules (n : UInt64)
  | smtpServer (server : String)
  | smtpPort (port : UInt16)
  | smtpHelo (name : String)
  | program (path : String)
  | noProgram
  | sender (address : String)
  | subjectPrefix (text : String)
  /-- A timeout counts as whole seconds, and as one second at least. -/
  | timeout (span : TimeSpan)
  deriving DecidableEq, Repr

def change (s : Settings) : Change → Settings
  | .ruleFile path => { s with ruleFile := path }
  | .engine engine => { s with engine }
  | .parallel on => { s with engine.parallel := on }
  | .minRules n => { s with engine.minRules := n }
  | .smtpServer server => { s with delivery.smtpServer := some server }
  | .smtpPort port => { s with delivery.smtpPort := port }
  | .smtpHelo name => { s with delivery.smtpHelo := name }
  | .program path => { s with delivery.program := some path }
  | .noProgram => { s with delivery.program := none }
  | .sender address => { s with delivery.sender := address }
  | .subjectPrefix text => { s with delivery.subjectPrefix := text }
  | .timeout span => { s with delivery.timeout := max span.seconds 1 }

def changeAll (s : Settings) (changes : List Change) : Settings :=
  changes.foldl change s

end Settings

end ReportRouting
