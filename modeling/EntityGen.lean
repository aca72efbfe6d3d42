import EntityGen.Config.Document
import EntityGen.Proofs.History
import EntityGen.Proofs.Imports
import EntityGen.Proofs.Regeneration
import EntityGen.Proofs.Identifier
import EntityGen.Proofs.Merge.Accessors
import EntityGen.Proofs.Constructor
import EntityGen.Proofs.CollectionImports
import EntityGen.Proofs.Refusal
import EntityGen.Proofs.Locality
import EntityGen.Proofs.Merge.WellFormed
import EntityGen.Proofs.Merge.Order
import EntityGen.Proofs.Stepwise
import EntityGen.Proofs.Attachment
import EntityGen.Proofs.AnnotatorOrder
import EntityGen.Proofs.IdentifierField
import EntityGen.Proofs.Merge.Fields
import EntityGen.Proofs.Merge.Methods
import EntityGen.Proofs.Merge.Frame
import EntityGen.Proofs.AdjustedClass
import EntityGen.Proofs.Persistence.Sides
import EntityGen.Proofs.Persistence.Overrides
import EntityGen.Proofs.Persistence.ReservedNames
import EntityGen.Proofs.Persistence.Shape
import EntityGen.Proofs.Persistence.Nullability
import EntityGen.Proofs.Occurrences
import EntityGen.Proofs.Resource.Operations
import EntityGen.Proofs.Spelling
import EntityGen.Proofs.Config.Layers
import EntityGen.Proofs.Ascent
