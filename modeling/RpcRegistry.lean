import RpcRegistry.Directory.Scripted
import RpcRegistry.Main
import RpcRegistry.Proofs.Announcement.Report
import RpcRegistry.Proofs.Announcement.Tables
import RpcRegistry.Proofs.Directory.History
import RpcRegistry.Proofs.Announcement.Outcomes
import RpcRegistry.Proofs.Announcement.Concurrent
import RpcRegistry.Proofs.Log.FileSink
import RpcRegistry.Proofs.Log.ConsoleSink
import RpcRegistry.Proofs.Settings.Layers
import RpcRegistry.Proofs.Settings.Loading
import RpcRegistry.Proofs.Settings.Reload
import RpcRegistry.Proofs.Announcement.BulkInsert
import RpcRegistry.Proofs.Log.Order
import RpcRegistry.Proofs.UniversalAddress.Classification
import RpcRegistry.Proofs.Announcement.Quiet
import RpcRegistry.Proofs.CommandLine
import RpcRegistry.Proofs.Listing
import RpcRegistry.Proofs.Command
import RpcRegistry.Proofs.Announcement.AnyOrder
import RpcRegistry.Proofs.Listing.Columns
import RpcRegistry.Proofs.Settings.Encoding
import RpcRegistry.Proofs.Settings.LogFile
import RpcRegistry.Proofs.Path.Components
import RpcRegistry.Proofs.Settings.Verbosity
import RpcRegistry.Proofs.FileTree.Listing
import RpcRegistry.Proofs.Settings.ListingOrder
import RpcRegistry.Proofs.Directory.Withdrawal
import RpcRegistry.Proofs.UniversalAddress.Literals
import RpcRegistry.Proofs.Path.Home
import RpcRegistry.Proofs.Settings.Registrar
import RpcRegistry.Proofs.Log.Widest
import RpcRegistry.Proofs.Log.Segments
