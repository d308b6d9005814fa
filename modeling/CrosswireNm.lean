import CrosswireNm.Library.Machine
import CrosswireNm.Library.Progress
import CrosswireNm.Library.Watch
import CrosswireNm.Library.Words
import CrosswireNm.Library.Xml
import CrosswireNm.Library.Tokens
import CrosswireNm.Library.Text
import CrosswireNm.Library.Options
import CrosswireNm.Library.Libc
import CrosswireNm.Library.ShellWords
import CrosswireNm.PppdPlugin.Netparams
import CrosswireNm.PppdPlugin.Grammar
import CrosswireNm.PppdPlugin.IpUp
import CrosswireNm.Service.Nm
import CrosswireNm.Service.State
import CrosswireNm.Service.StateHistory
import CrosswireNm.Service.IdleQuit
import CrosswireNm.Service.IdleTimer
import CrosswireNm.Service.CertTrust
import CrosswireNm.Service.CertLines
import CrosswireNm.Service.Readers
import CrosswireNm.Service.Config
import CrosswireNm.Service.Secrets
import CrosswireNm.Service.CommandLine
import CrosswireNm.Service.Supervisor
import CrosswireNm.Service.SupervisorRuns
import CrosswireNm.Service.Loggers
import CrosswireNm.Service.Teardown
import CrosswireNm.Service.FastFailure
import CrosswireNm.Service.Plugin
import CrosswireNm.Service.PluginSteps
import CrosswireNm.Service.PluginWf
import CrosswireNm.Service.PluginRuns
import CrosswireNm.Service.Held
import CrosswireNm.Service.Negotiation
import CrosswireNm.Service.Replies
import CrosswireNm.Service.Orphans
import CrosswireNm.Service.Started
import CrosswireNm.Service.Reported
import CrosswireNm.Service.Silence
import CrosswireNm.Service.Serial
import CrosswireNm.Service.Announced
import CrosswireNm.Service.Main
import CrosswireNm.Service.IdleShutdown
import CrosswireNm.Service.Gateway
import CrosswireNm.Service.SetConfig
import CrosswireNm.Service.Report
import CrosswireNm.Service.UserSession
import CrosswireNm.Service.GraphicalSession
import CrosswireNm.Service.Prompt
import CrosswireNm.Properties.ImportFortinet
import CrosswireNm.Properties.FortinetConnections
import CrosswireNm.Properties.FirstConnection
import CrosswireNm.Properties.UsableServer
import CrosswireNm.Properties.CertDialog
import CrosswireNm.Properties.TrustPrompt
import CrosswireNm.Properties.Editor
import CrosswireNm.Properties.Reopened
import CrosswireNm.Properties.Import
import CrosswireNm.Properties.Opened
import CrosswireNm.Properties.EditorSession
