import CommentBlocks.Main
import CommentBlocks.Proofs.Conservation
import CommentBlocks.Proofs.Roles
import CommentBlocks.Proofs.Concatenation
import CommentBlocks.Proofs.SecondPass
import CommentBlocks.Proofs.Openers
import CommentBlocks.Proofs.Convention
import CommentBlocks.Proofs.Terminators
import CommentBlocks.Proofs.Keywords
import CommentBlocks.Proofs.Removal
import CommentBlocks.Proofs.RoundTrip
import CommentBlocks.Proofs.Refusals
import CommentBlocks.Proofs.Independence
import CommentBlocks.Proofs.BreakChange
import CommentBlocks.Proofs.Checking
import CommentBlocks.Proofs.TargetRuns
import CommentBlocks.Proofs.Stopping
import CommentBlocks.Proofs.OutDirectory
import CommentBlocks.Proofs.Layout
import CommentBlocks.Proofs.Confinement
import CommentBlocks.Proofs.FirstFiles
import CommentBlocks.Proofs.Moving
import CommentBlocks.Proofs.Expressions
import CommentBlocks.Proofs.Enclosure
import CommentBlocks.Proofs.Layers
import CommentBlocks.Proofs.Recognition
import CommentBlocks.Proofs.Splitting
import CommentBlocks.Proofs.Strictness
import CommentBlocks.Proofs.Glyphs
