import DocQuery.Cli.FileTree
import DocQuery.Cli.Run
import DocQuery.Constructed
import DocQuery.Database.Operation
import DocQuery.Database.Registry
import DocQuery.Database.Server
import DocQuery.Main
import DocQuery.Proofs.CaselessMarkers
import DocQuery.Proofs.ComposedList
import DocQuery.Proofs.CompositePairs
import DocQuery.Proofs.ConflictMeaning
import DocQuery.Proofs.CreatedOnce
import DocQuery.Proofs.DistinctObjects
import DocQuery.Proofs.DryRun
import DocQuery.Proofs.EqualityParameters
import DocQuery.Proofs.Expression
import DocQuery.Proofs.FilterRefusals
import DocQuery.Proofs.FirstRow
import DocQuery.Proofs.Grouping
import DocQuery.Proofs.KeptText
import DocQuery.Proofs.LookupMeaning
import DocQuery.Proofs.ObjectLiteral
import DocQuery.Proofs.Paging
import DocQuery.Proofs.QuotedText
import DocQuery.Proofs.ReadBack
import DocQuery.Proofs.RecordedFaults
import DocQuery.Proofs.RegistryRun
import DocQuery.Proofs.RemovedObject
import DocQuery.Proofs.RepeatedUpdate
import DocQuery.Proofs.SearchPairs
import DocQuery.Proofs.Shape
import DocQuery.Proofs.SharedLists
import DocQuery.Proofs.ShortenedValue
import DocQuery.Proofs.SubstringSearch
import DocQuery.Proofs.UnrelatedPaths
import DocQuery.Proofs.VacuousCriteria
