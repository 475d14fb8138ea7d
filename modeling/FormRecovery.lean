import FormRecovery.Cache
import FormRecovery.Payload
import FormRecovery.Prelude
import FormRecovery.Product
import FormRecovery.Proofs.Growth
import FormRecovery.Proofs.Application
import FormRecovery.Proofs.Matching
import FormRecovery.Proofs.Interning
import FormRecovery.Proofs.Reachability
import FormRecovery.Proofs.Candidates
import FormRecovery.Proofs.Survey
import FormRecovery.Proofs.FirstMatch
import FormRecovery.Proofs.Certification
import FormRecovery.Proofs.Serving
import FormRecovery.Proofs.Expansion
import FormRecovery.Proofs.CanonicalKeys
import FormRecovery.Proofs.Declarations
import FormRecovery.Proofs.StoreInvariant
import FormRecovery.Proofs.Renaming
import FormRecovery.Proofs.Correspondence
import FormRecovery.Proofs.StructureOnly
import FormRecovery.Proofs.Coercions
import FormRecovery.Proofs.CacheTransparency
import FormRecovery.Proofs.Permanence
import FormRecovery.Proofs.Instantiation
import FormRecovery.Proofs.Registration
import FormRecovery.Proofs.SharedForm
import FormRecovery.Proofs.RoundTrips
import FormRecovery.Proofs.Canonicalization
import FormRecovery.Proofs.SlotLists
import FormRecovery.Proofs.PatternShapes
import FormRecovery.Proofs.Residuals
import FormRecovery.Proofs.Shadowing
import FormRecovery.Proofs.SpineWalk
import FormRecovery.Proofs.KindChecking
import FormRecovery.Proofs.Mismatches
import FormRecovery.Proofs.ProductResolution
import FormRecovery.Proofs.Tracing
import FormRecovery.Proofs.LineBreaks
import FormRecovery.Proofs.TypeTexts
import FormRecovery.Proofs.Widths
import FormRecovery.Proofs.UniqueTexts
import FormRecovery.Proofs.TextSubstitution
