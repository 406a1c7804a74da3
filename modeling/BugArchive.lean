import BugArchive.Main
import BugArchive.Proofs.Archive.History
import BugArchive.Proofs.Archive.Legacy
import BugArchive.Proofs.Command.Export
import BugArchive.Proofs.Command.Fault
import BugArchive.Proofs.Archive.Contents
import BugArchive.Proofs.Archive.Addition
import BugArchive.Proofs.Archive.Again
import BugArchive.Proofs.Archive.Rearranged
import BugArchive.Proofs.Disk
import BugArchive.Proofs.Archive.Writing
import BugArchive.Proofs.Archive.Joined
import BugArchive.Proofs.Archive.Lookup
import BugArchive.Proofs.Command.Files
import BugArchive.Proofs.Contract.RoundTrip
import BugArchive.Proofs.SourceMap.Reconcile
import BugArchive.Proofs.Archive.Session
import BugArchive.Proofs.Archive.SignatureLine
import BugArchive.Proofs.Archive.Grammar
import BugArchive.Proofs.Registry.Run
import BugArchive.Proofs.Archive.Merge
import BugArchive.Proofs.Contract.Mapping
import BugArchive.Proofs.Settings
import BugArchive.Proofs.Collection.Place
import BugArchive.Proofs.Archive.Returns
import BugArchive.Proofs.Contract.Lossless

