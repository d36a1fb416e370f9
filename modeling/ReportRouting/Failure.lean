import ReportRouting.Document.Fault
import ReportRouting.Record.Basic
import ReportRouting.Rule.Basic

/-!
Everything that can go wrong, and what is said about it.
-/

namespace ReportRouting

/-- Why bytes could not be read or written. -/
inductive StreamFault where
  | notFound
  | isDirectory
  | notText
  | refused (reason : String)
  deriving DecidableEq, Repr

def StreamFault.message : StreamFault → String
  | notFound => "No such file or directory (os error 2)"
  | isDirectory => "Is a directory (os error 21)"
  | notText => "stream did not contain valid UTF-8"
  | refused reason => reason

/-- What no settings may have. -/
inductive SettingsFault where
  | zeroPort
  | zeroTimeout
  | blankSender
  | blankServer
  deriving DecidableEq, Repr

def SettingsFault.message : SettingsFault → String
  | zeroPort => "smtp_port must be non-zero"
  | zeroTimeout => "timeout_secs must be non-zero"
  | blankSender => "report_from must not be empty"
  | blankServer => "smtp_server must not be empty when set"

/-- Why mails could not be delivered. -/
inductive DeliveryFault where
  | noTransport
  | unresolved (server : String) (port : UInt16) (reason : String)
  | unreachable (server : String) (port : UInt16) (reason : String)
  | noAddress (server : String) (port : UInt16)
  | closedByServer
  | malformedReply (line : String)
  | unexpectedReply (code : Nat) (text : String)
  | notStarted (program reason : String)
  | exited (program : String) (status : Nat) (complaint : String)
  | killed (program signal complaint : String)
  | inputRefused (program reason : String)
  | other (reason : String)
  deriving DecidableEq, Repr

def DeliveryFault.message : DeliveryFault → String
  | noTransport => "SMTP server is unset and could not find sendmail"
  | unresolved server port reason =>
    "smtp: cannot resolve " ++ server ++ ":" ++ toString port.toNat ++ ": " ++ reason
  | unreachable server port reason =>
    "smtp: cannot connect to " ++ server ++ ":" ++ toString port.toNat ++ ": " ++ reason
  | noAddress server port =>
    "smtp: no addresses for " ++ server ++ ":" ++ toString port.toNat
  | closedByServer => "smtp: connection closed by server"
  | malformedReply line => "smtp: malformed reply " ++ Text.quoted line
  | unexpectedReply code text => "smtp: unexpected reply " ++ toString code ++ " " ++ text
  | notStarted program reason => "sendmail: cannot run " ++ program ++ ": " ++ reason
  | exited program status complaint =>
    "sendmail: " ++ program ++ " exited with exit status: " ++ toString status ++ ": " ++ complaint
  | killed program signal complaint =>
    "sendmail: " ++ program ++ " exited with signal: " ++ signal ++ ": " ++ complaint
  | inputRefused program reason =>
    "sendmail: cannot write message to " ++ program ++ ": " ++ reason
  | other reason => reason

inductive Failure where
  | malformedRule (error : MalformedRule)
  | render (fault : RenderFault)
  | stream (fault : StreamFault)
  | yaml (fault : DocumentFault)
  | json (fault : DocumentFault)
  | settings (fault : SettingsFault)
  | delivery (fault : DeliveryFault)
  deriving DecidableEq

/-- What is said about a failure. Of an unreadable document no more than its kind is known. -/
def Failure.message : Failure → String
  | malformedRule error => error.message
  | render fault => "Render error: " ++ fault.reason
  | stream fault => "IO error: " ++ fault.message
  | yaml fault => "YAML parsing error: " ++ fault.message?.getD ""
  | json fault => "JSON parsing error: " ++ fault.message?.getD ""
  | settings fault => "Configuration error: " ++ fault.message
  | delivery fault => "Delivery error: " ++ fault.message

end ReportRouting
