import WikibaseQuery.Main
import WikibaseQuery.Query.Encode
import WikibaseQuery.Proofs.Comparison
import WikibaseQuery.Proofs.Subtraction
import WikibaseQuery.Proofs.Nesting
import WikibaseQuery.Proofs.BlankNodes
import WikibaseQuery.Proofs.Alternatives
import WikibaseQuery.Proofs.Negation
import WikibaseQuery.Proofs.Names
import WikibaseQuery.Proofs.Faults
import WikibaseQuery.Proofs.Rebinding
import WikibaseQuery.Proofs.Grammatical
import WikibaseQuery.Proofs.Readability
import WikibaseQuery.Proofs.Hygiene
import WikibaseQuery.Proofs.Relevance
import WikibaseQuery.Proofs.RoundTrip
import WikibaseQuery.Proofs.Labels
import WikibaseQuery.Proofs.AnyItem
import WikibaseQuery.Proofs.Months
import WikibaseQuery.Proofs.Years
import WikibaseQuery.Proofs.References
import WikibaseQuery.Proofs.Scoping
import WikibaseQuery.Proofs.Exclusion
import WikibaseQuery.Proofs.Renaming
import WikibaseQuery.Proofs.Denotation
import WikibaseQuery.Proofs.Shapes
import WikibaseQuery.Proofs.Shortening
import WikibaseQuery.Proofs.Quotation
import WikibaseQuery.Proofs.Overrides
