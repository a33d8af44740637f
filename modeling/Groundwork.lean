import Groundwork.Catalog.Printer
import Groundwork.Cluster.Scenario.Document
import Groundwork.Command.Recorder.Document
import Groundwork.Component.Rehearsed
import Groundwork.Engine.Live
import Groundwork.Main
import Groundwork.Shell
import Groundwork.Proofs.Installer.Teardown
import Groundwork.Proofs.Installer.Reordering
import Groundwork.Proofs.Component.SettingErrors
import Groundwork.Proofs.Component.Readiness
import Groundwork.Proofs.Installer.Replay
import Groundwork.Proofs.Installer.Concurrency
import Groundwork.Proofs.Settings.Dialogue
import Groundwork.Proofs.Settings.Persistence
import Groundwork.Proofs.Settings.Histories
import Groundwork.Proofs.Component.Privacy
import Groundwork.Proofs.Component.Budgets
import Groundwork.Proofs.Installer.Sequencing
import Groundwork.Proofs.Installer.Declarations
import Groundwork.Proofs.Component.References
import Groundwork.Proofs.Component.ChartValues
import Groundwork.Proofs.Component.Arguments
import Groundwork.Proofs.Script.Polling
import Groundwork.Proofs.Script.Retrying
import Groundwork.Proofs.Component.Pods
import Groundwork.Proofs.Confirmation
import Groundwork.Proofs.Settings.Merging
import Groundwork.Proofs.Settings.BreakingOff
import Groundwork.Proofs.Settings.Interview
import Groundwork.Proofs.Catalog.Scaling
import Groundwork.Proofs.Settings.Views
import Groundwork.Proofs.Text.Numeral
import Groundwork.Proofs.Value.Grammar
import Groundwork.Proofs.Value.RoundTrip
import Groundwork.Proofs.CommandLine.Diagnosis
import Groundwork.Proofs.Component.Provision
import Groundwork.Proofs.Cluster.Address
import Groundwork.Proofs.Cluster.Platform
import Groundwork.Proofs.Catalog.Location
import Groundwork.Proofs.Component.Exposure
import Groundwork.Proofs.CommandLine.SettingFlags
import Groundwork.Proofs.CommandLine.Information
import Groundwork.Proofs.Cluster.Histories
import Groundwork.Proofs.Cluster.Agreement
import Groundwork.Proofs.Cluster.Selector
import Groundwork.Proofs.Settings.Listing
