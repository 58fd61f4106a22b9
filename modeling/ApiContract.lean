import ApiContract.Digest.Sha256
import ApiContract.Main
import ApiContract.Proofs.Outcome
import ApiContract.Proofs.Descent
import ApiContract.Proofs.Traversal
import ApiContract.Proofs.Accounting
import ApiContract.Proofs.Location
import ApiContract.Proofs.Agreement
import ApiContract.Proofs.Transparency
import ApiContract.Proofs.Magnitude
import ApiContract.Proofs.ShortestDecimal
import ApiContract.Proofs.NumberText
import ApiContract.Proofs.Reading
import ApiContract.Proofs.ValueEquality
import ApiContract.Proofs.CanonicalText
import ApiContract.Proofs.Limits
import ApiContract.Proofs.References
import ApiContract.Proofs.Holdings
import ApiContract.Proofs.Soundness
import ApiContract.Proofs.Selection
import ApiContract.Proofs.Callbacks
import ApiContract.Proofs.Registration
import ApiContract.Proofs.Sessions
import ApiContract.Proofs.Directions
import ApiContract.Proofs.ExactRounding
import ApiContract.Proofs.Outline
import ApiContract.Proofs.Rerooting
import ApiContract.Proofs.Likeness
import ApiContract.Proofs.EqualDocuments
import ApiContract.Proofs.Additions
import ApiContract.Proofs.Blame
import ApiContract.Proofs.Depth
import ApiContract.Proofs.CommandLine
import ApiContract.Proofs.Chains
import ApiContract.Proofs.Parts
import ApiContract.Proofs.Branching
import ApiContract.Proofs.Objects
import ApiContract.Proofs.RoundingError
import ApiContract.Proofs.RoundingOrder
import ApiContract.Proofs.Integers
import ApiContract.Proofs.Multiples
import ApiContract.Proofs.Ranges
import ApiContract.Proofs.Templates
import ApiContract.Proofs.Arrays
import ApiContract.Proofs.Keywords
import ApiContract.Proofs.Inheritance
import ApiContract.Proofs.Flattening
import ApiContract.Proofs.FormatChecks
import ApiContract.Proofs.Tables
