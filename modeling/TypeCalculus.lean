import TypeCalculus.Number.Profile
import TypeCalculus.Phrase.Expansion
import TypeCalculus.Proofs.Keys
import TypeCalculus.Script
import TypeCalculus.Ty.Written
import TypeCalculus.Proofs.Rows
import TypeCalculus.Proofs.Combination
import TypeCalculus.Proofs.Evaluation
import TypeCalculus.Proofs.Merge
import TypeCalculus.Proofs.Overwrite
import TypeCalculus.Proofs.Kinds
import TypeCalculus.Proofs.Membership
import TypeCalculus.Proofs.Pairing
import TypeCalculus.Proofs.SetEquality
import TypeCalculus.Proofs.FieldOrder
import TypeCalculus.Proofs.Rounds
import TypeCalculus.Proofs.Encoding
import TypeCalculus.Proofs.PartialForms
import TypeCalculus.Proofs.Expansions
import TypeCalculus.Proofs.Separated
import TypeCalculus.Proofs.Duplicates
import TypeCalculus.Proofs.Operands
import TypeCalculus.Proofs.Lengths
import TypeCalculus.Proofs.Readings
import TypeCalculus.Proofs.Literals
import TypeCalculus.Proofs.Identity
import TypeCalculus.Proofs.Declarations
import TypeCalculus.Proofs.Lookup
import TypeCalculus.Proofs.Splitting
import TypeCalculus.Proofs.OnePass
import TypeCalculus.Proofs.OrderedLaws
import TypeCalculus.Proofs.RepeatedForms
import TypeCalculus.Proofs.Shapes
import TypeCalculus.Proofs.Recovery
import TypeCalculus.Proofs.Spines
import TypeCalculus.Proofs.Decoding
import TypeCalculus.Proofs.LastOccurrences
import TypeCalculus.Proofs.Removal
import TypeCalculus.Proofs.Sequences
import TypeCalculus.Proofs.Numerals
import TypeCalculus.Proofs.Entries
import TypeCalculus.Proofs.Strides
import TypeCalculus.Proofs.Appends
