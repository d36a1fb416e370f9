import ReportRouting.Processing
import ReportRouting.Proofs.Content
import ReportRouting.Proofs.Processors
import ReportRouting.Proofs.RuleText
import ReportRouting.Report.FromYaml
import ReportRouting.Settings.FromYaml
import ReportRouting.Proofs.MailText
import ReportRouting.Proofs.Mailing
import ReportRouting.Proofs.Noninterference
import ReportRouting.Proofs.Transcript
import ReportRouting.Proofs.JsonText
import ReportRouting.Proofs.TimeText
import ReportRouting.Proofs.StoredReports
import ReportRouting.Proofs.WildcardTag
import ReportRouting.Proofs.LineFaults
import ReportRouting.Proofs.RuleParts
import ReportRouting.Proofs.Awaiting
import ReportRouting.Proofs.MailHeaders
import ReportRouting.Proofs.Layout
import ReportRouting.Proofs.TagOrder
import ReportRouting.Proofs.SettingChanges
import ReportRouting.Proofs.DetachedDelivery
import ReportRouting.Proofs.Distribution
import ReportRouting.Proofs.FaultMessages
import ReportRouting.Proofs.LogTags
