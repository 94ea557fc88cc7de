import Manuscript.Book
import Manuscript.Document.PlainText
import Manuscript.Proofs.Footnote.InForce
import Manuscript.Proofs.Footnote.Marker
import Manuscript.Proofs.Leanpub.Strictness
import Manuscript.Proofs.Leanpub.Totality
import Manuscript.Session
import Manuscript.Proofs.Footnote.Pass
import Manuscript.Proofs.Leanpub.Unruled
import Manuscript.Proofs.Footnote.Arrangement
import Manuscript.Proofs.Leanpub.Surroundings
import Manuscript.Proofs.Leanpub.Arrangement
import Manuscript.Proofs.Document.Refilled
import Manuscript.Proofs.Footnote.Renaming
import Manuscript.Proofs.Leanpub.Suppression
import Manuscript.Proofs.Document.Shown
import Manuscript.Proofs.Markdown.Carried
import Manuscript.Proofs.Leanpub.Visible
import Manuscript.Proofs.Footnote.Legible
import Manuscript.Proofs.Markdown.Leniency
import Manuscript.Proofs.Markdown.Definitions
import Manuscript.Proofs.Leanpub.Attachment
import Manuscript.Proofs.Destination
import Manuscript.Proofs.Options.Validity
import Manuscript.Proofs.Leanpub.Fencing
import Manuscript.Proofs.Markdown.Fence
import Manuscript.Proofs.Markdown.Listing
import Manuscript.Proofs.Text.Columns
import Manuscript.Proofs.Markdown.Grid
import Manuscript.Proofs.Markdown.Escape
import Manuscript.Proofs.Markdown.CodeSpan
import Manuscript.Proofs.Leanpub.Delimiters
import Manuscript.Proofs.Leanpub.Captions
import Manuscript.Proofs.Document.Parentage
import Manuscript.Proofs.Markdown.Bullets
import Manuscript.Proofs.Leanpub.Address
import Manuscript.Proofs.Path.Suffix
import Manuscript.Proofs.Markdown.Tidy
import Manuscript.Proofs.Document.PlainText
import Manuscript.Proofs.Markdown.Image
import Manuscript.Proofs.Document.Tour
import Manuscript.Proofs.Markdown.Layers
