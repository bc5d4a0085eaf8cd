import NativeApi.Model.Json
import NativeApi.Options.Json
import NativeApi.Proofs.Arena
import NativeApi.Proofs.Limitations
import NativeApi.Proofs.SimplifiedCalls
import NativeApi.Proofs.TargetScopes
import NativeApi.Proofs.DefaultScopes
import NativeApi.Proofs.ModelCommands
import NativeApi.Proofs.BuildSteps
import NativeApi.Proofs.EnumMembers
import NativeApi.Proofs.Formation
import NativeApi.Proofs.Lookups
import NativeApi.Proofs.CompositeRounds
import NativeApi.Proofs.DeclarationOrder
import NativeApi.Proofs.HandleAliases
import NativeApi.Proofs.HandleMethods
import NativeApi.Proofs.Redeclarations
import NativeApi.Proofs.AssignedRoles
import NativeApi.Proofs.StrictTables
import NativeApi.Proofs.DisabledExtensions
import NativeApi.Proofs.ReturnTypes
import NativeApi.Proofs.Plans
import NativeApi.Proofs.LoweredCalls
import NativeApi.Proofs.AliasResolution
import NativeApi.Proofs.FirstPass
import NativeApi.Proofs.Treatments
import NativeApi.Proofs.LiteralSpellings
import NativeApi.Proofs.ArrayLengths
import NativeApi.Proofs.LiteralOverflow
import NativeApi.Proofs.OffsetValues
import NativeApi.Proofs.NameSpellings
import NativeApi.Proofs.EnumMemberNames
import NativeApi.Proofs.BoundHandles
import NativeApi.Proofs.TextRuns
import NativeApi.Proofs.WrittenElements
import NativeApi.Proofs.NameMaps
import NativeApi.Proofs.Statuses
import NativeApi.Proofs.References
import NativeApi.Proofs.LengthPaths
import NativeApi.Proofs.Beginnings
import NativeApi.Proofs.Passes
