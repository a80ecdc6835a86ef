import ValueBuilder.Contribution
import ValueBuilder.Main
import ValueBuilder.Proofs.Acceptance
import ValueBuilder.Proofs.Classification
import ValueBuilder.Proofs.DirectiveEffects
import ValueBuilder.Proofs.Endings
import ValueBuilder.Proofs.Failures
import ValueBuilder.Proofs.ForwardClosure
import ValueBuilder.Proofs.Generation
import ValueBuilder.Proofs.ImplementationLines
import ValueBuilder.Proofs.Independence
import ValueBuilder.Proofs.Injectivity
import ValueBuilder.Proofs.Lines
import ValueBuilder.Proofs.ParsedNames
import ValueBuilder.Proofs.RoundTrip
import ValueBuilder.Proofs.SeedExpression
import ValueBuilder.Proofs.Copies
import ValueBuilder.Proofs.Sessions
import ValueBuilder.Proofs.Brackets
import ValueBuilder.Proofs.Output
import ValueBuilder.Proofs.Alignment
import ValueBuilder.Proofs.Prefixes
import ValueBuilder.Proofs.Selectors
import ValueBuilder.Proofs.Declarations
import ValueBuilder.Proofs.ImportLines
import ValueBuilder.Proofs.LargerPolicies
import ValueBuilder.Proofs.Shifts
import ValueBuilder.Proofs.Loading
